import ManifestMigration.Proofs.Version.Range
import ManifestMigration.Proofs.Version.Successor

/-! The order of releases, segment by segment.

    A release comes before another when it is smaller in the first segment in which they differ, a
    missing segment being zero. Between final releases nothing else counts, so a range that ends
    where a segment has been raised by one holds the final releases that agree with its start up to
    that segment. -/

namespace ManifestMigration

namespace Version

/-! ### Segments -/

/-- A segment of the release; those behind its end are zero. -/
def segment (v : Version) (i : Nat) : Nat := v.release.getD i 0

/-- Smaller in the first segment that differs. -/
def Precedes (a b : Nat → Nat) : Prop := ∃ i, (∀ j < i, a j = b j) ∧ a i < b i

theorem precedes_iff_head (a b : Nat → Nat) : Precedes a b ↔
    a 0 < b 0 ∨ a 0 = b 0 ∧ Precedes (fun i => a (i + 1)) fun i => b (i + 1) := by
  constructor
  · rintro ⟨i, heq, hlt⟩
    cases i with
    | zero => exact .inl hlt
    | succ i =>
      exact .inr ⟨heq 0 i.succ_pos, i, fun j hj => heq (j + 1) (Nat.succ_lt_succ hj), hlt⟩
  · rintro (hlt | ⟨h0, i, heq, hlt⟩)
    · exact ⟨0, fun j hj => absurd hj j.not_lt_zero, hlt⟩
    · refine ⟨i + 1, fun j hj => ?_, hlt⟩
      cases j with
      | zero => exact h0
      | succ j => exact heq j (Nat.lt_of_succ_lt_succ hj)

theorem then_eq_lt_iff {x y : Nat} {o : Ordering} :
    (Ord.compare x y).then o = .lt ↔ x < y ∨ x = y ∧ o = .lt := by
  rw [Ordering.then_eq_lt, Nat.compare_eq_lt, Nat.compare_eq_eq]

theorem compareEnded_eq_lt_iff : ∀ {ys : List Nat},
    compareEnded ys = .lt ↔ Precedes (fun _ => 0) fun i => ys.getD i 0
  | [] => by simp [compareEnded, Precedes]
  | y :: ys => by
    rw [compareEnded, then_eq_lt_iff, compareEnded_eq_lt_iff]
    exact (precedes_iff_head (fun _ => 0) fun i => (y :: ys).getD i 0).symm

theorem compareReleases_eq_lt_iff : ∀ {xs ys : List Nat},
    compareReleases xs ys = .lt ↔ Precedes (fun i => xs.getD i 0) fun i => ys.getD i 0
  | [], ys => compareEnded_eq_lt_iff
  | x :: xs, ys => by
    have hhead := precedes_iff_head (fun i => (x :: xs).getD i 0) fun i => ys.getD i 0
    rw [compareReleases, then_eq_lt_iff, compareReleases_eq_lt_iff, hhead]
    cases ys <;> rfl

/-! ### Final releases -/

/-- Neither a pre-release nor a post release nor a development release. -/
structure IsFinal (v : Version) : Prop where
  pre : v.pre = none
  post : v.post = none
  dev : v.dev = none

theorem isFinal_final (major : Nat) (tail : List Nat) : (final major tail).IsFinal :=
  ⟨rfl, rfl, rfl⟩

variable {v w high : Version}

theorem compareMarks_of_isFinal (hv : v.IsFinal) (hw : w.IsFinal) : compareMarks v w = .eq := by
  simp only [compareMarks, stage, preRank, devRank, hv.pre, hv.post, hv.dev, hw.pre, hw.post,
    hw.dev]
  decide

/-- Final releases are ordered by their segments. -/
theorem key_lt_iff_precedes (hv : v.IsFinal) (hw : w.IsFinal) :
    v.key < w.key ↔ Precedes v.segment w.segment := by
  rw [← compare_eq_lt_iff, compare, compareMarks_of_isFinal hv hw, Ordering.then_eq,
    compareReleases_eq_lt_iff]
  rfl

theorem key_lt_of_precedes (h : Precedes v.segment w.segment) : v.key < w.key :=
  key_lt_of_releases (compareReleases_eq_lt_iff.mpr h)

theorem le_iff_key_le : v ≤ w ↔ v.key ≤ w.key :=
  toAntisymmetrization_le_toAntisymmetrization_iff.symm

theorem Fits.segment_lt (hv : v.Fits) (i : Nat) : v.segment i < Text.wordLimit := by
  rw [segment, List.getD_eq_getElem?_getD]
  cases h : v.release[i]? with
  | none => decide
  | some n => exact hv n (List.mem_of_getElem? h)

/-- A segment can be raised, or it holds the largest number. -/
theorem Fits.segment_lt_or_eq (hv : v.Fits) (i : Nat) :
    v.segment i < Text.wordLimit - 1 ∨ v.segment i = Text.wordLimit - 1 := by
  have hlt := hv.segment_lt i
  omega

theorem le_iff_not_precedes (hv : v.IsFinal) (hw : w.IsFinal) :
    v ≤ w ↔ ¬ Precedes w.segment v.segment := by
  rw [le_iff_key_le, ← not_lt, key_lt_iff_precedes hw hv]

/-- A release does not come before the first one of its series. -/
theorem le_of_agree {k : Nat} (hv : v.IsFinal) (hw : w.IsFinal)
    (hagree : ∀ i ≤ k, w.segment i = v.segment i) (hzero : ∀ i, k < i → v.segment i = 0) :
    v ≤ w := by
  rw [le_iff_not_precedes hv hw]
  rintro ⟨i, -, hlt⟩
  rcases Nat.lt_or_ge k i with hi | hi
  · rw [hzero i hi] at hlt
    exact Nat.not_lt_zero _ hlt
  · exact hlt.ne (hagree i hi)

/-! ### Raising a segment -/

/-- The second version is final, has a segment of the first raised by one, and zeros behind it. -/
structure IsRaised (v : Version) (k : Nat) (high : Version) : Prop where
  isFinal : high.IsFinal
  below : ∀ i < k, high.segment i = v.segment i
  raised : high.segment k = v.segment k + 1
  above : ∀ i, k < i → high.segment i = 0

theorem IsRaised.key_lt {k : Nat} (h : IsRaised v k high) : v.key < high.key :=
  key_lt_of_precedes ⟨k, fun i hi => (h.below i hi).symm, h.raised ▸ Nat.lt_succ_self _⟩

/-- A final release that is not below a version is below the next one of the series when it agrees
    with the version up to the segment that is raised. -/
theorem IsRaised.key_lt_iff {k : Nat} (h : IsRaised v k high) (hw : w.IsFinal)
    (hle : v.key ≤ w.key) : w.key < high.key ↔ ∀ i ≤ k, w.segment i = v.segment i := by
  rw [key_lt_iff_precedes hw h.isFinal]
  constructor
  · rintro ⟨i, heq, hlt⟩
    have hik : i ≤ k := by
      by_contra hki
      rw [h.above i (not_le.mp hki)] at hlt
      exact Nat.not_lt_zero _ hlt
    -- before the raised segment a smaller one would put the release below the version
    have hbelow : ∀ j < i, w.segment j = v.segment j := fun j hj =>
      (heq j hj).trans (h.below j (hj.trans_le hik))
    have hnot : ¬ w.segment i < v.segment i := fun hlt =>
      (key_lt_of_precedes ⟨i, hbelow, hlt⟩).not_ge hle
    rcases hik.lt_or_eq with hlt' | rfl
    · rw [h.below i hlt'] at hlt
      exact absurd hlt hnot
    · intro j hj
      rcases hj.lt_or_eq with hj | rfl
      · exact hbelow j hj
      · rw [h.raised] at hlt
        omega
  · intro heq
    refine ⟨k, fun i hi => (heq i hi.le).trans (h.below i hi).symm, ?_⟩
    rw [heq k le_rfl, h.raised]
    exact Nat.lt_succ_self _

/-- The segment is raised if the next number still is a word, and nothing is answered otherwise. -/
def Raises (v : Version) (k : Nat) (high? : Option Version) : Prop :=
  if v.segment k + 1 < Text.wordLimit then ∃ high, high? = some high ∧ IsRaised v k high
  else high? = none

theorem getD_map_zero (ns : List Nat) (i : Nat) : (ns.map fun _ => 0).getD i 0 = 0 := by
  rw [List.getD_eq_getElem?_getD, List.getElem?_map]
  cases ns[i]? <;> rfl

theorem raises_map_nextWord? {k : Nat} {next : Nat → Version}
    (h : IsRaised v k (next (v.segment k + 1))) :
    Raises v k ((Text.nextWord? (v.segment k)).map next) := by
  rw [Raises, Text.nextWord?]
  split
  · exact ⟨_, rfl, h⟩
  · rfl

theorem raises_bumpMajor? (v : Version) : Raises v 0 v.bumpMajor? := by
  refine raises_map_nextWord? ⟨isFinal_final .., fun i hi => absurd hi i.not_lt_zero, rfl,
    fun i hi => ?_⟩
  cases i with
  | zero => exact absurd hi (lt_irrefl 0)
  | succ i => exact getD_map_zero ..

theorem raises_bumpMinor? {minor : Nat} {more : List Nat} (h : v.tail = minor :: more) :
    Raises v 1 v.bumpMinor? := by
  have hminor : v.segment 1 = minor := by
    rw [segment, release, h]
    rfl
  rw [bumpMinor?, h, ← hminor]
  refine raises_map_nextWord? ⟨isFinal_final .., fun i hi => ?_, rfl, fun i hi => ?_⟩
  · rw [Nat.lt_one_iff.mp hi]
    rfl
  · rcases i with _ | _ | i
    · omega
    · omega
    · exact getD_map_zero ..

theorem raises_nextPatch? (hstable : v.isStable = true) : Raises v 2 v.nextPatch? := by
  rw [nextPatch?, hstable, if_pos rfl]
  have hpatch : v.patch?.getD 0 = v.segment 2 := rfl
  rw [hpatch]
  refine raises_map_nextWord? ⟨isFinal_final .., fun i hi => ?_, rfl, fun i hi => ?_⟩
  · rcases i with _ | _ | i
    · rfl
    · rfl
    · omega
  · rcases i with _ | _ | _ | i
    · omega
    · omega
    · omega
    · rfl

/-! ### The next series of a version -/

theorem stable_cases (v : Version) :
    v.isStable = true ∧ v.stable = v ∨ v.stable = final v.major v.tail := by
  rw [stable]
  split
  case isTrue h => exact .inl ⟨h, rfl⟩
  case isFalse => exact .inr rfl

theorem isStable_stable (v : Version) : v.stable.isStable = true := by
  obtain ⟨h, heq⟩ | heq := v.stable_cases <;> rw [heq]
  · exact h
  · rfl

theorem release_stable (v : Version) : v.stable.release = v.release := by
  obtain ⟨-, heq⟩ | heq := v.stable_cases <;> rw [heq]
  rfl

/-- Only the segments of the version count. -/
theorem Raises.of_release {k : Nat} {high? : Option Version} (h : Raises w k high?)
    (hrelease : w.release = v.release) : Raises v k high? := by
  have hsegment : w.segment = v.segment := by
    funext i
    rw [segment, segment, hrelease]
  rw [Raises, hsegment] at h
  rw [Raises]
  split
  case isTrue hlt =>
    rw [if_pos hlt] at h
    obtain ⟨high, hhigh, hraised⟩ := h
    exact ⟨high, hhigh, hraised.isFinal, hsegment ▸ hraised.below, hsegment ▸ hraised.raised,
      hraised.above⟩
  case isFalse hlimit => rwa [if_neg hlimit] at h

theorem raises_stable_nextMajor? (v : Version) : Raises v 0 v.stable.nextMajor? := by
  rw [nextMajor?_of_isStable v.isStable_stable]
  exact (raises_bumpMajor? v.stable).of_release v.release_stable

theorem raises_stable_nextMinor? (h : v.precision ≠ 1) : Raises v 1 v.stable.nextMinor? := by
  have htail : v.stable.tail = v.tail := (List.cons.inj v.release_stable).2
  cases hv : v.tail with
  | nil => exact absurd (by rw [precision, release, hv]; rfl) h
  | cons minor more =>
    rw [hv] at htail
    have hminor : v.stable.minor? = some minor := by rw [minor?, htail]; rfl
    rw [nextMinor?_of_isStable v.isStable_stable hminor]
    exact (raises_bumpMinor? htail).of_release v.release_stable

/-! ### The next breaking release -/

/-- The segment that fixes compatibility: the first that is not zero or the last that is written,
    out of the first three. -/
def breakingSegment (v : Version) : Nat :=
  if v.segment 0 ≠ 0 ∨ v.precision = 1 then 0
  else if v.segment 1 ≠ 0 ∨ v.precision = 2 then 1
  else 2

/-- The version is stable, or comes after the release that starts its series, which for a series of
    patch releases is never asked. -/
def Settled (v : Version) : Prop :=
  v.isStable = true ∨ v.breakingSegment < 2 ∧
    (ofSegments (v.release.take (v.breakingSegment + 1))).before v = true

instance (v : Version) : Decidable v.Settled := inferInstanceAs (Decidable (_ ∨ _))

theorem breakingSegment_cons {minor : Nat} {more : List Nat} (h : v.tail = minor :: more) :
    v.breakingSegment = if v.major ≠ 0 then 0 else if minor ≠ 0 ∨ more = [] then 1 else 2 := by
  have hmajor : v.segment 0 = v.major := rfl
  have hminor : v.segment 1 = minor := by rw [segment, release, h]; rfl
  have hprecision : v.precision = more.length + 2 := by rw [precision, release, h]; rfl
  simp only [breakingSegment, hmajor, hminor, hprecision]
  simp

theorem nextBreaking?_cases (v : Version) :
    v.breakingSegment = 0 ∧ v.nextBreaking? = v.nextMajor? ∨
      (∃ minor more, v.tail = minor :: more ∧ v.breakingSegment = 1 ∧
        v.nextBreaking? = v.nextMinor?) ∨
      v.breakingSegment = 2 ∧ v.nextBreaking? = v.nextPatch? := by
  rw [nextBreaking?, minor?, patch?]
  cases htail : v.tail with
  | nil => exact .inl ⟨if_pos (.inr (by rw [precision, release, htail]; rfl)), rfl⟩
  | cons minor more =>
    rw [breakingSegment_cons htail]
    by_cases hmajor : v.major = 0
    · by_cases hminor : minor ≠ 0 ∨ more = []
      · refine .inr (.inl ⟨minor, more, rfl, ?_, ?_⟩)
        · rw [if_neg (not_not.mpr hmajor), if_pos hminor]
        · cases more <;> simp_all [Nat.pos_iff_ne_zero]
      · refine .inr (.inr ⟨?_, ?_⟩)
        · rw [if_neg (not_not.mpr hmajor), if_neg hminor]
        · cases more <;> simp_all
    · exact .inl ⟨if_pos hmajor, if_pos (Nat.pos_of_ne_zero hmajor)⟩

theorem nextMajor?_eq (v : Version) :
    v.nextMajor? = if v.isStable = true ∨ (final v.major []).before v = true then v.bumpMajor?
      else some (final v.major v.tail) := by
  simp only [nextMajor?, Bool.or_eq_true]

theorem nextMinor?_eq {minor : Nat} {more : List Nat} (h : v.tail = minor :: more) :
    v.nextMinor? = if v.isStable = true ∨ (final v.major [minor]).before v = true then
      v.bumpMinor? else some (final v.major v.tail) := by
  have hminor : v.minor? = some minor := by rw [minor?, h]; rfl
  simp only [nextMinor?, hminor, Bool.or_eq_true]

/-- The next breaking release of a settled version raises the segment that fixes compatibility. For
    any other version it is the release that the version leads up to. -/
theorem nextBreaking?_spec (v : Version) :
    (v.Settled → Raises v v.breakingSegment v.nextBreaking?) ∧
      (¬ v.Settled → v.nextBreaking? = some (final v.major v.tail)) := by
  rw [Settled]
  obtain ⟨hk, hnext⟩ | ⟨minor, more, htail, hk, hnext⟩ | ⟨hk, hnext⟩ := nextBreaking?_cases v
  · have hstart : ofSegments (v.release.take (0 + 1)) = final v.major [] := rfl
    rw [hnext, hk, hstart, nextMajor?_eq, and_iff_right Nat.zero_lt_two]
    exact ⟨fun h => (if_pos h).symm ▸ raises_bumpMajor? v, fun h => if_neg h⟩
  · have hstart : ofSegments (v.release.take (1 + 1)) = final v.major [minor] := by
      rw [release, htail]
      rfl
    rw [hnext, hk, hstart, nextMinor?_eq htail, and_iff_right Nat.one_lt_two]
    exact ⟨fun h => (if_pos h).symm ▸ raises_bumpMinor? htail, fun h => if_neg h⟩
  · rw [hnext, hk, or_iff_left fun h => absurd h.1 (lt_irrefl 2)]
    refine ⟨raises_nextPatch?, fun h => ?_⟩
    rw [nextPatch?, if_neg h]

end Version

namespace VersionRange

variable {v w low high : Version}

theorem isEmpty_halfOpen : (halfOpen low high).isEmpty = true ↔ ¬ low.key < high.key := by
  rw [isEmpty_iff, ← not_lt]
  change ¬ Cut.of low false < Cut.of high false ↔ _
  rw [Cut.of_lt_of]
  simp

theorem mem_below_iff : w ∈ below high false ↔ w.key < high.key := by
  rw [mem_iff, cuts, Set.mem_Ico]
  change ⊥ ≤ Cut.of w false ∧ Cut.of w false < Cut.of high false ↔ _
  rw [and_iff_right bot_le, Cut.of_lt_of]
  simp

/-- The final releases of a range that ends where a segment of its start is raised. -/
theorem mem_halfOpen_raised {k : Nat} (h : v.IsRaised k high) (hw : w.IsFinal) :
    w ∈ halfOpen v high ↔ v ≤ w ∧ ∀ i ≤ k, w.segment i = v.segment i := by
  rw [mem_halfOpen_iff, Version.le_iff_key_le]
  exact and_congr_right fun hle => h.key_lt_iff hw hle

/-- Between a version and a final release with its segments there is no other final release. -/
theorem not_mem_halfOpen_own (hw : w.IsFinal) : w ∉ halfOpen v (.final v.major v.tail) := by
  rw [mem_halfOpen_iff]
  rintro ⟨hle, hlt⟩
  have hprecedes := (Version.key_lt_iff_precedes hw (Version.isFinal_final _ _)).mp hlt
  have hbelow : w.key < v.key := Version.key_lt_of_precedes hprecedes
  exact hbelow.not_ge hle

end VersionRange

end ManifestMigration
