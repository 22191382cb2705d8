import ManifestMigration.Proofs.Version.Segments

/-! The end of a series lies above the versions in it.

    A raised segment puts a release above every version that it was raised from. An unstable version
    may be answered the final release that it leads up to, and that is above it unless the version is
    a development release of a post release: such a version leads up to the post release, which comes
    after the final one. The next major and the next minor release are told apart from that by the
    first release of the series; the next patch release is not. -/

namespace ManifestMigration

namespace Version

variable {v n : Version} {k : Nat} {next? : Option Version}

/-! ### The final release with the segments of a version -/

/-- A development release of a post release. It comes after the final release with its segments,
    although it is not stable. -/
def IsPostDevelopment (v : Version) : Prop :=
  v.pre = none ∧ v.post.isSome = true ∧ v.dev.isSome = true

instance (v : Version) : Decidable v.IsPostDevelopment := inferInstanceAs (Decidable (_ ∧ _ ∧ _))

/-- The marks of an unstable version compare with those of a final release by their stage alone. -/
theorem compareMarks_unstable {major : Nat} {tail : List Nat} (h : v.isStable = false) :
    compareMarks v (final major tail) = if v.IsPostDevelopment then .gt else .lt := by
  obtain ⟨vmajor, vtail, pre, post, dev, text⟩ := v
  cases pre with
  | some mark => rfl
  | none =>
    cases dev with
    | none => cases h
    | some number => cases post <;> rfl

theorem compare_own (h : v.isStable = false) :
    v.compare (final v.major v.tail) = if v.IsPostDevelopment then .gt else .lt := by
  have hrelease : compareReleases v.release (final v.major v.tail).release = .eq :=
    Std.ReflCmp.compare_self
  rw [compare, hrelease, Ordering.eq_then, compareMarks_unstable h]

theorem lt_own_iff (h : v.isStable = false) :
    v < final v.major v.tail ↔ ¬ v.IsPostDevelopment := by
  change v.compare (final v.major v.tail) = .lt ↔ _
  rw [compare_own h]
  split
  case isTrue hpost => exact iff_of_false (by decide) (not_not_intro hpost)
  case isFalse hpost => exact iff_of_true rfl hpost

/-- The first release of a series does not come after those that go on with more segments. -/
theorem final_take_le (major : Nat) (tail : List Nat) (k : Nat) :
    final major (tail.take k) ≤ final major tail := by
  refine le_of_agree (k := k) (isFinal_final ..) (isFinal_final ..) (fun i hi => ?_) fun i hi => ?_
  · cases i with
    | zero => rfl
    | succ i =>
      change tail.getD i 0 = (tail.take k).getD i 0
      rw [List.getD_eq_getElem?_getD, List.getD_eq_getElem?_getD, List.getElem?_take_of_lt hi]
  · cases i with
    | zero => cases hi
    | succ i =>
      change (tail.take k).getD i 0 = 0
      have hend : (tail.take k)[i]? = none := List.getElem?_eq_none <|
        (List.length_take_le k tail).trans (Nat.le_of_lt_succ hi)
      rw [List.getD_eq_getElem?_getD, hend, Option.getD_none]

/-- An unstable version that does not come after the first release of a series leads up to a final
    release. -/
theorem lt_own_of_not_before (k : Nat) (hstable : v.isStable = false)
    (h : ¬ (final v.major (v.tail.take k)).before v = true) : v < final v.major v.tail := by
  rw [lt_own_iff hstable]
  intro hpost
  have hgt : v.compare (final v.major v.tail) = .gt := by rw [compare_own hstable, if_pos hpost]
  have hown : final v.major v.tail < v := Std.OrientedCmp.gt_iff_lt.mp hgt
  exact h (beq_iff_eq.mpr ((final_take_le ..).trans_lt hown))

/-! ### Going up -/

/-- The version comes before what is answered, so that the range up to it is not empty. -/
def Ascends (v : Version) (next? : Option Version) : Prop :=
  ∀ n, next? = some n → v < n ∧ (VersionRange.halfOpen v n).isEmpty = false

/-- What ends the series of a segment is a final release, and there is none only if the segment
    holds the largest word. -/
structure EndsSeries (v : Version) (k : Nat) (next? : Option Version) : Prop where
  isFinal : ∀ n, next? = some n → n.IsFinal
  limit : next? = none → v.segment k = Text.wordLimit - 1

theorem ascends_some : v.Ascends (some n) ↔ v < n := by
  constructor
  · intro h
    exact (h n rfl).1
  · rintro hlt _ ⟨⟩
    refine ⟨hlt, ?_⟩
    rw [← Bool.not_eq_true, VersionRange.isEmpty_halfOpen, not_not]
    exact compare_eq_lt_iff.mp hlt

theorem ascends_none : v.Ascends none := fun n h => absurd h.symm (Option.some_ne_none n)

theorem endsSeries_some (hn : n.IsFinal) : EndsSeries v k (some n) where
  isFinal _ hm := Option.some.inj hm ▸ hn
  limit h := absurd h (Option.some_ne_none n)

theorem endsSeries_none (h : v.segment k = Text.wordLimit - 1) : EndsSeries v k none where
  isFinal n hn := absurd hn.symm (Option.some_ne_none n)
  limit _ := h

theorem endsSeries_own (v : Version) (k : Nat) : EndsSeries v k (some (final v.major v.tail)) :=
  endsSeries_some (isFinal_final ..)

/-- Where a segment is raised, the version goes up. -/
theorem Raises.goesUp (h : v.Raises k next?) (hv : v.Fits) :
    EndsSeries v k next? ∧ v.Ascends next? := by
  rw [Raises] at h
  split at h
  case isTrue =>
    obtain ⟨high, rfl, hraised⟩ := h
    exact ⟨endsSeries_some hraised.isFinal,
      ascends_some.mpr (compare_eq_lt_iff.mpr hraised.key_lt)⟩
  case isFalse hword =>
    subst h
    have hlimit : v.segment k = Text.wordLimit - 1 :=
      (hv.segment_lt_or_eq k).resolve_left fun hlt => hword (by omega)
    exact ⟨endsSeries_none hlimit, ascends_none⟩

/-- An unstable version goes up to its own final release if it does not come after the first release
    of the series. -/
theorem goesUp_own (j : Nat)
    (h : ¬ (v.isStable = true ∨ (final v.major (v.tail.take j)).before v = true)) :
    EndsSeries v k (some (final v.major v.tail)) ∧ v.Ascends (some (final v.major v.tail)) := by
  obtain ⟨hstable, hbefore⟩ := not_or.mp h
  rw [Bool.not_eq_true] at hstable
  exact ⟨endsSeries_own v k, ascends_some.mpr (lt_own_of_not_before j hstable hbefore)⟩

/-! ### The ends of series, one by one -/

theorem nextMajor?_ascends (hv : v.Fits) :
    EndsSeries v 0 v.nextMajor? ∧ v.Ascends v.nextMajor? := by
  rw [nextMajor?_eq]
  split
  case isTrue => exact (raises_bumpMajor? v).goesUp hv
  case isFalse h => exact goesUp_own 0 h

theorem precision_ne_one {minor : Nat} {more : List Nat} (h : v.tail = minor :: more) :
    v.precision ≠ 1 := by
  rw [precision, release, h]
  simp

/-- The next minor release raises the second segment, or the first where there is no other. -/
theorem nextMinor?_ascends (hv : v.Fits) :
    EndsSeries v (if v.precision = 1 then 0 else 1) v.nextMinor? ∧ v.Ascends v.nextMinor? := by
  cases htail : v.tail with
  | nil =>
    have hprecision : v.precision = 1 := by rw [precision, release, htail]; rfl
    have hnext : v.nextMinor? = v.nextMajor? := by rw [nextMinor?, minor?, htail]; rfl
    rw [if_pos hprecision, hnext]
    exact nextMajor?_ascends hv
  | cons minor more =>
    rw [if_neg (precision_ne_one htail), nextMinor?_eq htail]
    split
    case isTrue => exact (raises_bumpMinor? htail).goesUp hv
    case isFalse h =>
      have hstart : v.tail.take 1 = [minor] := by rw [htail]; rfl
      rw [← hstart] at h
      exact goesUp_own 1 h

theorem nextPatch?_ascends_iff (hv : v.Fits) :
    EndsSeries v 2 v.nextPatch? ∧ (v.Ascends v.nextPatch? ↔ ¬ v.IsPostDevelopment) := by
  cases hstable : v.isStable with
  | true =>
    obtain ⟨hends, hup⟩ := (raises_nextPatch? hstable).goesUp hv
    refine ⟨hends, iff_of_true hup fun hpost => ?_⟩
    rw [isStable, Bool.and_eq_true, Option.isNone_iff_eq_none, Option.isNone_iff_eq_none] at hstable
    rw [IsPostDevelopment, hstable.2] at hpost
    cases hpost.2.2
  | false =>
    have hnext : v.nextPatch? = some (final v.major v.tail) := by
      rw [nextPatch?, hstable, if_neg Bool.false_ne_true]
    rw [hnext, ascends_some, lt_own_iff hstable]
    exact ⟨endsSeries_own v 2, .rfl⟩

/-- The next major, minor and patch release, and the next one that may break compatibility, are final
    releases above a version, and there is none only if the segment to be raised holds the largest
    word. The exception is a development release of a post release: its next patch release comes
    before it, and so does its next breaking one where the third segment fixes compatibility. -/
theorem next_ascends (s : String) (v : Version) (h : parse? s = some v) :
    (EndsSeries v 0 v.nextMajor? ∧ v.Ascends v.nextMajor?) ∧
      (EndsSeries v (if v.precision = 1 then 0 else 1) v.nextMinor? ∧ v.Ascends v.nextMinor?) ∧
      (EndsSeries v 2 v.nextPatch? ∧ (v.Ascends v.nextPatch? ↔ ¬ v.IsPostDevelopment)) ∧
      EndsSeries v v.breakingSegment v.nextBreaking? ∧
        (v.Ascends v.nextBreaking? ↔ ¬ (v.breakingSegment = 2 ∧ v.IsPostDevelopment)) := by
  have hv : v.Fits := (of_ofText?_eq_some h).2.2.2
  refine ⟨nextMajor?_ascends hv, nextMinor?_ascends hv, nextPatch?_ascends_iff hv, ?_⟩
  obtain ⟨hk, hnext⟩ | ⟨minor, more, htail, hk, hnext⟩ | ⟨hk, hnext⟩ := nextBreaking?_cases v
  · rw [hk, hnext]
    obtain ⟨hends, hup⟩ := nextMajor?_ascends hv
    exact ⟨hends, iff_of_true hup fun hpatch => absurd hpatch.1 (by decide)⟩
  · rw [hk, hnext]
    obtain ⟨hends, hup⟩ := nextMinor?_ascends hv
    rw [if_neg (precision_ne_one htail)] at hends
    exact ⟨hends, iff_of_true hup fun hpatch => absurd hpatch.1 (by decide)⟩
  · rw [hk, hnext, and_iff_right rfl]
    exact nextPatch?_ascends_iff hv

/-- A release candidate with more segments than a patch release has, and with all other marks. -/
theorem next_ascends_of_candidate :
    let v : Version := ⟨0, [0, 3, 2], some (.candidate, 1), some 0, some 4, "0.0.3.2rc1.post0.dev4"⟩
    parse? "0.0.3.2rc1.post0.dev4" = some v ∧ ¬ v.IsPostDevelopment ∧
      v.nextMajor? = some (final 1 [0, 0, 0]) ∧ v < final 1 [0, 0, 0] ∧
      v.nextMinor? = some (final 0 [1, 0, 0]) ∧ v < final 0 [1, 0, 0] ∧
      v.nextPatch? = some (final 0 [0, 3, 2]) ∧ v < final 0 [0, 3, 2] ∧
      v.nextBreaking? = some (final 0 [0, 3, 2]) ∧
        (VersionRange.halfOpen v (final 0 [0, 3, 2])).isEmpty = false := by
  intro v
  have h : parse? "0.0.3.2rc1.post0.dev4" = some v := by decide +kernel
  have hmarks : ¬ v.IsPostDevelopment := by decide
  have hmajor : v.nextMajor? = some (final 1 [0, 0, 0]) := by decide +kernel
  have hminor : v.nextMinor? = some (final 0 [1, 0, 0]) := by decide +kernel
  have hpatch : v.nextPatch? = some (final 0 [0, 3, 2]) := rfl
  have hbreaking : v.nextBreaking? = some (final 0 [0, 3, 2]) := rfl
  obtain ⟨⟨-, hmajorUp⟩, ⟨-, hminorUp⟩, ⟨-, hpatchUp⟩, -, hbreakingUp⟩ := next_ascends _ v h
  exact ⟨h, hmarks, hmajor, (hmajorUp _ hmajor).1, hminor, (hminorUp _ hminor).1,
    hpatch, (hpatchUp.mpr hmarks _ hpatch).1,
    hbreaking, (hbreakingUp.mpr (fun hboth => hmarks hboth.2) _ hbreaking).2⟩

/-- The next patch release of a development release of a post release comes before it, and nothing is
    in between. -/
theorem nextPatch?_descends :
    let v : Version := ⟨0, [0, 3], none, some 1, some 1, "0.0.3.post1.dev1"⟩
    parse? "0.0.3.post1.dev1" = some v ∧ v.nextPatch? = some (final 0 [0, 3]) ∧
      v.nextBreaking? = some (final 0 [0, 3]) ∧ final 0 [0, 3] < v ∧
      ¬ v.Ascends v.nextPatch? ∧ ¬ v.Ascends v.nextBreaking? ∧
      (VersionRange.halfOpen v (final 0 [0, 3])).isEmpty = true := by
  intro v
  have hdown : final 0 [0, 3] < v := by decide +kernel
  have hnot : ¬ v.Ascends (some (final 0 [0, 3])) := fun hup => hdown.asymm (ascends_some.mp hup)
  exact ⟨by decide +kernel, rfl, rfl, hdown, hnot, hnot, by decide +kernel⟩

end Version

end ManifestMigration
