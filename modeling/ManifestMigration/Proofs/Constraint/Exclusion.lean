import ManifestMigration.Constraint.Specifier
import ManifestMigration.Proofs.Constraint.Bounds
import ManifestMigration.Proofs.Constraint.Reading

/-! What the exclusions of a specifier keep out.

    An exclusion is chosen for the gap between two neighbouring ranges. It ends where the gap does,
    and starts where the gap does or before: a series starts with its first final release, even
    when the gap starts with a later post release, and the series of `0` has no start at all. -/

namespace ManifestMigration

namespace Constraint

namespace Exclusion

/-- The versions that the exclusion keeps out. -/
def range : Exclusion → VersionRange
  | .single v => .exact v
  | .majorSeries 0 => .below (.final 1 [0, 0]) false
  | .majorSeries (major + 1) => .halfOpen (.final (major + 1) [0, 0]) (.final (major + 2) [0, 0])
  | .minorSeries major minor => .halfOpen (.final major [minor, 0]) (.final major [minor + 1, 0])

/-- The exclusion can be written down: its version can, or its numbers and the one after the last
    of them fit a word. -/
def Legible : Exclusion → Prop
  | .single v => v.Legible
  | .majorSeries major => major + 1 < Text.wordLimit
  | .minorSeries major minor => major < Text.wordLimit ∧ minor + 1 < Text.wordLimit

/-! ### Reading exclusions back -/

theorem seriesConstraint_major {major : Nat} (h : major + 1 < Text.wordLimit) :
    Clause.seriesConstraint major none = .ok (ofRange (majorSeries major).range) := by
  cases major with
  | zero => rfl
  | succ n =>
    have hnext : (Version.final (n + 1) [0, 0]).nextMajor? = some (.final (n + 2) [0, 0]) := by
      rw [Version.nextMajor?_of_isStable rfl]
      have hword : Text.nextWord? (n + 1) = some (n + 2) := if_pos h
      simp only [Version.bumpMajor?, Version.final, hword]
      rfl
    simp only [Clause.seriesConstraint, if_neg (Nat.succ_ne_zero n), hnext]
    rfl

theorem seriesConstraint_minor {major minor : Nat} (h : minor + 1 < Text.wordLimit) :
    Clause.seriesConstraint major (some minor) = .ok (ofRange (minorSeries major minor).range) := by
  have hnext : (Version.final major [minor, 0]).nextMinor? =
      some (.final major [minor + 1, 0]) := by
    rw [Version.nextMinor?_of_isStable rfl rfl]
    simp only [Version.bumpMinor?, Version.final, Text.nextWord?, if_pos h]
    rfl
  simp only [Clause.seriesConstraint, hnext]
  rfl

theorem toList_text_majorSeries (major : Nat) :
    (majorSeries major).text.toList = "!=".toList ++ starred [major] := by
  change ("!=" ++ toString major ++ ".*").toList = _
  simp [starred]

theorem toList_text_minorSeries (major minor : Nat) :
    (minorSeries major minor).text.toList = "!=".toList ++ starred [major, minor] := by
  change ("!=" ++ toString major ++ "." ++ toString minor ++ ".*").toList = _
  simp [starred]

/-- What is read of an excluded series allows everything outside it. -/
theorem readOne_starred {major : Nat} (minor? : Option Nat) {r : VersionRange}
    (hmajor : major < Text.wordLimit) (hminor : ∀ minor ∈ minor?, minor < Text.wordLimit)
    (hseries : Clause.seriesConstraint major minor? = .ok (ofRange r)) :
    readOne ("!=".toList ++ starred (major :: minor?.toList)) = .ok (ofRange r).complement := by
  rw [readOne, readClause_append .different (by decide) (by decide),
    readPlain_series hmajor hminor]
  rw [show (Except.ok (Clause.series major minor? true) >>= Clause.constraint) =
    Clause.constraint (.series major minor? true) from rfl]
  exact bind_eq_ok.mpr ⟨ofRange r, hseries, rfl⟩

/-- An exclusion is read back, and keeps out its range. -/
theorem mem_cutsRead_text : ∀ {e : Exclusion}, e.Legible → ∀ {p : Cut},
    p ∈ cutsRead e.text ↔ p < ⊤ ∧ p ∉ e.range.cuts
  | .single v, h, p => by
    rw [text, mem_cutsRead_comparison .different (by decide) (by decide) h]
    exact mem_cuts_complement_ofRange
  | .majorSeries major, h, p => by
    have hread := readOne_starred none (Nat.lt_of_succ_lt h) (fun _ hm => by cases hm)
      (seriesConstraint_major h)
    rw [mem_cutsRead (toList_text_majorSeries major ▸ hread)]
    exact mem_cuts_complement_ofRange
  | .minorSeries major minor, h, p => by
    have hread := readOne_starred (some minor) h.1
      (fun _ hm => by cases hm; exact Nat.lt_of_succ_lt h.2) (seriesConstraint_minor h.2)
    rw [mem_cutsRead (toList_text_minorSeries major minor ▸ hread)]
    exact mem_cuts_complement_ofRange

theorem isClauseChar_of_mem_starred {ns : List Nat} {c : Char} (h : c ∈ starred ns) :
    isClauseChar c = true := by
  rcases Text.of_mem_intercalate h with rfl | ⟨w, hw, hc⟩
  · decide
  rcases List.mem_append.mp hw with hw | hw
  · obtain ⟨n, _, rfl⟩ := List.mem_map.mp hw
    have hdigit := Text.isDigit_of_mem_digits hc
    simp only [isClauseChar, Version.isTextChar_of_isDigit hdigit, Bool.or_true, Bool.true_or]
  · rw [List.mem_singleton.mp hw, List.mem_singleton] at hc
    rw [hc]
    rfl

theorem standalone_starred {w : String} {n : Nat} {ns : List Nat}
    (hw : w.toList = "!=".toList ++ starred (n :: ns)) : Standalone w := by
  have hw' : w = "!=" ++ String.ofList (starred (n :: ns)) := by
    rw [← String.toList_inj, String.toList_append, hw]
    exact congrArg _ String.toList_ofList.symm
  rw [hw']
  refine standalone_append .different (by decide) (fun c hc => ?_) ?_
  · exact isClauseChar_of_mem_starred (String.toList_ofList ▸ hc)
  · rw [String.toList_ofList]
    exact head_starred n ns

theorem standalone_text : ∀ {e : Exclusion}, e.Legible → Standalone e.text
  | .single _, h => standalone_comparison .different (by decide) h
  | .majorSeries major, _ => standalone_starred (toList_text_majorSeries major)
  | .minorSeries major minor, _ => standalone_starred (toList_text_minorSeries major minor)

end Exclusion

/-! ### The exclusion of a gap -/

/-- The exclusion keeps out the gap between two ranges and nothing above it; nor anything below it,
    unless the first range ends at a post release or at the release `0`. -/
structure Exclusion.Closes (e : Exclusion) (low high : VersionRange) : Prop where
  start : e.range.lowerCut ≤ low.upperCut
  stop : e.range.upperCut = high.lowerCut
  tight : ∀ v ∈ low.upper, v.post = none → ¬ v.IsZero → e.range.lowerCut = low.upperCut

/-- What closes the gap between two ranges that end and start right before a version. -/
theorem closes_of_cuts {e : Exclusion} {low high : VersionRange} {start stop : Version}
    (hlow : low.upper = some start ∧ low.closedUpper = false)
    (hhigh : high.lower = some stop ∧ high.closedLower = true)
    (hbelow : e.range.lowerCut ≤ Cut.of start false) (hend : e.range.upperCut = Cut.of stop false)
    (htight : start.post = none → ¬ start.IsZero → e.range.lowerCut = Cut.of start false) :
    e.Closes low high := by
  have hupper : low.upperCut = Cut.of start false := by
    rw [VersionRange.upperCut, hlow.1, hlow.2]
    rfl
  have hlower : high.lowerCut = Cut.of stop false := by
    rw [VersionRange.lowerCut, hhigh.1, hhigh.2]
    rfl
  refine ⟨hupper ▸ hbelow, hlower ▸ hend, fun v hv => ?_⟩
  rw [hlow.1] at hv
  cases hv
  exact hupper ▸ htight

theorem isNext_iff {next? : Option Version} {v : Version} :
    isNext next? v = true ↔ ∃ w, next? = some w ∧ w.key = v.key := by
  cases next? with
  | none => simp [isNext]
  | some w => simp [isNext, Version.same_iff]

variable {low high : VersionRange} {start stop : Version}

theorem closes_majorSeries (hlow : low.upper = some start ∧ low.closedUpper = false)
    (hhigh : high.lower = some stop ∧ high.closedLower = true) (hstable : start.isStable = true)
    (hzero : zerosFrom start 1 = true) (hnext : isNext start.nextMajor? stop = true) :
    (Exclusion.majorSeries start.major).Legible ∧
      (Exclusion.majorSeries start.major).Closes low high := by
  have hzeros : ∀ n ∈ start.tail, n = 0 := by simpa [zerosFrom, Version.release] using hzero
  obtain ⟨w, hw, hkey⟩ := isNext_iff.mp hnext
  rw [Version.nextMajor?_of_isStable hstable] at hw
  obtain ⟨major, hmajor, rfl⟩ := Option.map_eq_some_iff.mp hw
  obtain ⟨rfl, hfits⟩ := Version.fits_of_nextWord? hmajor
  have hend : (Version.final (start.major + 1) [0, 0]).key = stop.key := by
    rw [← hkey]
    refine Version.key_final_congr ?_
    rw [Version.compareReleases_cons_self]
    exact Version.compareReleases_zeros (by decide) (by simp)
  refine ⟨hfits, ?_⟩
  cases hm : start.major with
  | zero =>
    rw [hm] at hend
    refine closes_of_cuts hlow hhigh bot_le (Cut.of_congr hend false) fun _ hne => absurd ?_ hne
    exact List.forall_mem_cons.mpr ⟨hm, hzeros⟩
  | succ n =>
    rw [hm] at hend
    have hown : Version.compareReleases ((n + 1) :: [0, 0]) start.release = .eq := by
      rw [Version.release, hm, Version.compareReleases_cons_self]
      exact Version.compareReleases_zeros (by decide) hzeros
    exact closes_of_cuts hlow hhigh (Cut.before_le_before.mpr (Version.key_final_le hstable hown))
      (Cut.of_congr hend false)
      fun hpost _ => Cut.of_congr (Version.key_final_eq hstable hpost hown) false

theorem closes_minorSeries {minor : Nat} (hlow : low.upper = some start ∧ low.closedUpper = false)
    (hhigh : high.lower = some stop ∧ high.closedLower = true) (hfits : start.Fits)
    (hstable : start.isStable = true) (hminor : start.minor? = some minor)
    (hzero : zerosFrom start 2 = true) (hnext : isNext start.nextMinor? stop = true) :
    (Exclusion.minorSeries start.major minor).Legible ∧
      (Exclusion.minorSeries start.major minor).Closes low high := by
  obtain ⟨more, htail⟩ : ∃ more, start.tail = minor :: more := by
    cases ht : start.tail with
    | nil => rw [Version.minor?, ht] at hminor; cases hminor
    | cons m more => rw [Version.minor?, ht] at hminor; cases hminor; exact ⟨more, rfl⟩
  have hzeros : ∀ n ∈ more, n = 0 := by simpa [zerosFrom, Version.release, htail] using hzero
  obtain ⟨w, hw, hkey⟩ := isNext_iff.mp hnext
  rw [Version.nextMinor?_of_isStable hstable hminor, Version.bumpMinor?, htail] at hw
  obtain ⟨next, hword, rfl⟩ := Option.map_eq_some_iff.mp hw
  obtain ⟨rfl, hlt⟩ := Version.fits_of_nextWord? hword
  have hend : (Version.final start.major [minor + 1, 0]).key = stop.key := by
    rw [← hkey]
    refine Version.key_final_congr ?_
    rw [Version.compareReleases_cons_self, Version.compareReleases_cons_self]
    exact Version.compareReleases_zeros (by decide) (by simp)
  have hown : Version.compareReleases (start.major :: [minor, 0]) start.release = .eq := by
    rw [Version.release, htail, Version.compareReleases_cons_self,
      Version.compareReleases_cons_self]
    exact Version.compareReleases_zeros (by decide) hzeros
  refine ⟨⟨hfits start.major (List.mem_cons_self ..), hlt⟩, ?_⟩
  exact closes_of_cuts hlow hhigh (Cut.before_le_before.mpr (Version.key_final_le hstable hown))
    (Cut.of_congr hend false)
    fun hpost _ => Cut.of_congr (Version.key_final_eq hstable hpost hown) false

theorem closes_single (hlow : low.upper = some start ∧ low.closedUpper = false)
    (hhigh : high.lower = some stop ∧ high.closedLower = false) (hkey : start.key = stop.key) :
    (Exclusion.single start).Closes low high := by
  have hupper : low.upperCut = Cut.of start false := by
    rw [VersionRange.upperCut, hlow.1, hlow.2]
    rfl
  have hlower : high.lowerCut = Cut.of stop true := by
    rw [VersionRange.lowerCut, hhigh.1, hhigh.2]
    rfl
  exact ⟨hupper ▸ le_rfl, hlower ▸ Cut.of_congr hkey true, fun _ _ _ _ => hupper ▸ rfl⟩

/-- The exclusion that is chosen for a gap can be written down, and keeps out the gap. -/
theorem closes_of_gapExclusion? {e : Exclusion} (hbounded : low.Bounded Version.Legible)
    (h : gapExclusion? low high = some e) : e.Legible ∧ e.Closes low high := by
  rw [gapExclusion?] at h
  split at h
  case h_2 => cases h
  case h_1 start stop hstart hstop =>
    have hlegible := hbounded.upper start hstart
    split at h
    case isTrue hsame =>
      cases h
      simp only [Bool.and_eq_true, Bool.not_eq_true', Version.same_iff] at hsame
      obtain ⟨⟨hkey, hopen⟩, hopen'⟩ := hsame
      exact ⟨hlegible, closes_single ⟨hstart, hopen⟩ ⟨hstop, hopen'⟩ hkey⟩
    case isFalse =>
      split at h
      case isTrue => cases h
      case isFalse hshape =>
        simp only [Bool.or_eq_true, Bool.not_eq_true', not_or, Bool.not_eq_true,
          Bool.not_eq_false] at hshape
        obtain ⟨⟨hopen, hclosed⟩, hstable⟩ := hshape
        split at h
        case isTrue hmajor =>
          cases h
          obtain ⟨hzero, hnext⟩ := Bool.and_eq_true_iff.mp hmajor
          exact closes_majorSeries ⟨hstart, hopen⟩ ⟨hstop, hclosed⟩ hstable hzero hnext
        case isFalse =>
          split at h
          case h_2 => cases h
          case h_1 minor hminor =>
            split at h
            case isFalse => cases h
            case isTrue hseries =>
              cases h
              obtain ⟨hzero, hnext⟩ := Bool.and_eq_true_iff.mp hseries
              exact closes_minorSeries ⟨hstart, hopen⟩ ⟨hstop, hclosed⟩ hlegible.fits hstable hminor
                hzero hnext

end Constraint

end ManifestMigration
