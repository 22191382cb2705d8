import ManifestMigration.Proofs.Version.Preorder
import ManifestMigration.Proofs.Version.Text
import ManifestMigration.Version.Successor

/-! The ends of series are final releases that can be written down, and where they lie in the order.

    So whatever a version comes from, a text or segments, and however many series are left behind on
    the way to it, it is read back from its text.

    Zeros at the end of a release do not count, so the series of `1` starts at `1.0.0` as well as at
    `1`. A stable version never comes before its own final release: it is that release or a post
    release of it. -/

namespace ManifestMigration

namespace Version

/-! ### Writing down the ends of series -/

theorem fits_of_nextWord? {n m : Nat} (h : Text.nextWord? n = some m) :
    m = n + 1 ∧ n + 1 < Text.wordLimit := by
  rw [Text.nextWord?] at h
  split at h
  case isTrue hlt => exact ⟨(Option.some.inj h).symm, hlt⟩
  case isFalse => cases h

theorem fits_zeros {ns : List Nat} : ∀ n ∈ ns.map (fun _ => 0), n < Text.wordLimit := by
  intro n hn
  obtain ⟨_, _, rfl⟩ := List.mem_map.mp hn
  decide

variable {v w : Version}

theorem Legible.fits (h : v.Legible) : v.Fits := (of_ofText?_eq_some h.ofText?_eq).2.2.2

/-- A final release in its shortest form, whose segments fit. -/
def IsRelease (v : Version) : Prop := ∃ major tail, v = final major tail ∧ v.Fits

theorem IsRelease.legible (h : v.IsRelease) : v.Legible := by
  obtain ⟨major, tail, rfl, hfits⟩ := h
  exact legible_final hfits

theorem isRelease_own (hv : v.Fits) : (final v.major v.tail).IsRelease := ⟨_, _, rfl, hv⟩

theorem isRelease_of_bumpMajor? (h : v.bumpMajor? = some w) : w.IsRelease := by
  obtain ⟨major, hmajor, rfl⟩ := Option.map_eq_some_iff.mp h
  obtain ⟨rfl, hlt⟩ := fits_of_nextWord? hmajor
  exact ⟨_, _, rfl, List.forall_mem_cons.mpr ⟨hlt, fits_zeros⟩⟩

theorem isRelease_of_bumpMinor? (hv : v.Fits) (h : v.bumpMinor? = some w) : w.IsRelease := by
  rw [bumpMinor?] at h
  split at h
  case h_1 => cases h
  case h_2 minor more htail =>
    obtain ⟨next, hnext, rfl⟩ := Option.map_eq_some_iff.mp h
    obtain ⟨rfl, hlt⟩ := fits_of_nextWord? hnext
    exact ⟨_, _, rfl, List.forall_mem_cons.mpr ⟨hv v.major (List.mem_cons_self ..),
      List.forall_mem_cons.mpr ⟨hlt, fits_zeros⟩⟩⟩

theorem isRelease_of_nextMajor? (hv : v.Fits) (h : v.nextMajor? = some w) : w.IsRelease := by
  rw [nextMajor?] at h
  split at h
  · exact isRelease_of_bumpMajor? h
  · exact Option.some.inj h ▸ isRelease_own hv

theorem isRelease_of_nextMinor? (hv : v.Fits) (h : v.nextMinor? = some w) : w.IsRelease := by
  rw [nextMinor?] at h
  split at h
  · exact isRelease_of_nextMajor? hv h
  · split at h
    · exact isRelease_of_bumpMinor? hv h
    · exact Option.some.inj h ▸ isRelease_own hv

theorem isRelease_of_nextPatch? (hv : v.Fits) (h : v.nextPatch? = some w) : w.IsRelease := by
  rw [nextPatch?] at h
  split at h
  · obtain ⟨patch, hpatch, rfl⟩ := Option.map_eq_some_iff.mp h
    obtain ⟨rfl, hlt⟩ := fits_of_nextWord? hpatch
    have hminor : v.minor?.getD 0 < Text.wordLimit := by
      cases hm : v.minor? with
      | none => decide
      | some m => exact hv m (List.mem_cons_of_mem _ (List.mem_of_getElem? hm))
    exact ⟨_, _, rfl, List.forall_mem_cons.mpr ⟨hv v.major (List.mem_cons_self ..),
      List.forall_mem_cons.mpr ⟨hminor, List.forall_mem_singleton.mpr hlt⟩⟩⟩
  · exact Option.some.inj h ▸ isRelease_own hv

theorem isRelease_of_nextBreaking? (hv : v.Fits) (h : v.nextBreaking? = some w) : w.IsRelease := by
  rw [nextBreaking?] at h
  split at h
  · exact isRelease_of_nextMajor? hv h
  · split at h
    · exact isRelease_of_nextMajor? hv h
    · split at h
      · exact isRelease_of_nextMinor? hv h
      · exact isRelease_of_nextPatch? hv h

theorem fits_stable (hv : v.Fits) : v.stable.Fits := by
  rw [stable]
  split
  · exact hv
  · exact hv

theorem legible_stable (hv : v.Legible) : v.stable.Legible := by
  rw [stable]
  split
  · exact hv
  · exact legible_final hv.fits

theorem legible_ofSegments {segments : List Nat} (h : ∀ n ∈ segments, n < Text.wordLimit) :
    (ofSegments segments).Legible := by
  cases segments with
  | nil => exact legible_final (List.forall_mem_singleton.mpr (by decide))
  | cons major tail => exact legible_final h

/-- How versions come about: they are read or made from segments, and other versions are reached
    from them by going on to the final release or to the end of a series, any number of times. -/
inductive Obtained : Version → Prop where
  | read {s : String} {v : Version} (h : parse? s = some v) : Obtained v
  | made {segments : List Nat} (h : ∀ n ∈ segments, n < Text.wordLimit) :
      Obtained (ofSegments segments)
  | stable {v : Version} (hv : Obtained v) : Obtained v.stable
  | nextMajor {v w : Version} (hv : Obtained v) (h : v.nextMajor? = some w) : Obtained w
  | nextMinor {v w : Version} (hv : Obtained v) (h : v.nextMinor? = some w) : Obtained w
  | nextPatch {v w : Version} (hv : Obtained v) (h : v.nextPatch? = some w) : Obtained w
  | nextBreaking {v w : Version} (hv : Obtained v) (h : v.nextBreaking? = some w) : Obtained w

/-- The text of a version is read back as that version, with all of its parts. -/
theorem parse?_text_of_obtained (h : Obtained v) : parse? v.text = some v := by
  change v.Legible
  induction h with
  | read h => exact legible_of_ofText? h
  | made h => exact legible_ofSegments h
  | stable _ ih => exact legible_stable ih
  | nextMajor _ h ih => exact (isRelease_of_nextMajor? ih.fits h).legible
  | nextMinor _ h ih => exact (isRelease_of_nextMinor? ih.fits h).legible
  | nextPatch _ h ih => exact (isRelease_of_nextPatch? ih.fits h).legible
  | nextBreaking _ h ih => exact (isRelease_of_nextBreaking? ih.fits h).legible

theorem parse?_text_of_preview :
    let v : Version := ⟨0, [2], some (.candidate, 7), some 0, some 0,
      "0.02-Preview_007.rev-DEV99999999999999999999"⟩
    (Obtained v ∧ parse? v.text = some v) ∧ v.nextBreaking? = some (final 0 [2]) ∧
      Obtained (final 0 [2]) ∧ parse? (final 0 [2]).text = some (final 0 [2]) := by
  intro v
  have hread : parse? " V0.02-Preview_007.rev-DEV99999999999999999999" = some v := by
    decide +kernel
  have hv : Obtained v := .read hread
  have hnext : v.nextBreaking? = some (final 0 [2]) := rfl
  have hw : Obtained (final 0 [2]) := hv.nextBreaking hnext
  exact ⟨⟨hv, parse?_text_of_obtained hv⟩, hnext, hw, parse?_text_of_obtained hw⟩

theorem nextMajor?_of_isStable (h : v.isStable = true) : v.nextMajor? = v.bumpMajor? := by
  rw [nextMajor?, h, Bool.true_or, if_pos rfl]

theorem nextMinor?_of_isStable (h : v.isStable = true) {minor : Nat}
    (hminor : v.minor? = some minor) : v.nextMinor? = v.bumpMinor? := by
  simp only [nextMinor?, hminor, h, Bool.true_or, if_pos]

/-! ### Final releases and ends of series in the order -/

/-- The release is `0`, however it is written. -/
def IsZero (v : Version) : Prop := ∀ n ∈ v.release, n = 0

theorem compareEnded_zeros : ∀ {ns : List Nat}, (∀ n ∈ ns, n = 0) → compareEnded ns = .eq
  | [], _ => rfl
  | n :: ns, h => by
    rw [compareEnded, h n (List.mem_cons_self ..),
      compareEnded_zeros fun m hm => h m (List.mem_cons_of_mem _ hm)]
    rfl

theorem compareReleases_zeros : ∀ {ns ms : List Nat}, (∀ n ∈ ns, n = 0) → (∀ m ∈ ms, m = 0) →
    compareReleases ns ms = .eq
  | [], _, _, hm => compareEnded_zeros hm
  | n :: ns, ms, hn, hm => by
    have hhead : ms.headD 0 = 0 := by
      cases ms with
      | nil => rfl
      | cons m ms => exact hm m (List.mem_cons_self ..)
    rw [compareReleases, hn n (List.mem_cons_self ..), hhead,
      compareReleases_zeros (fun k hk => hn k (List.mem_cons_of_mem _ hk)) fun k hk =>
        hm k (List.mem_of_mem_tail hk)]
    rfl

theorem compareReleases_cons_self (n : Nat) (ns ms : List Nat) :
    compareReleases (n :: ns) (n :: ms) = compareReleases ns ms := by
  rw [compareReleases_eq_then, List.headD_cons, List.headD_cons, Std.ReflOrd.compare_self]
  rfl

theorem key_lt_of_releases (h : compareReleases v.release w.release = .lt) : v.key < w.key := by
  rw [← compare_eq_lt_iff, compare, h]
  rfl

theorem compareReleases_of_lt {n m : Nat} (h : n < m) (ns ms : List Nat) :
    compareReleases (n :: ns) (m :: ms) = .lt := by
  rw [compareReleases_eq_then, List.headD_cons, List.headD_cons, Nat.compare_eq_lt.mpr h]
  rfl

theorem releases_lt_of_bumpMajor? (h : v.bumpMajor? = some w) :
    compareReleases v.release w.release = .lt := by
  obtain ⟨major, hmajor, rfl⟩ := Option.map_eq_some_iff.mp h
  obtain ⟨rfl, -⟩ := fits_of_nextWord? hmajor
  exact compareReleases_of_lt (Nat.lt_succ_self _) _ _

theorem releases_lt_of_bumpMinor? (h : v.bumpMinor? = some w) :
    compareReleases v.release w.release = .lt := by
  rw [bumpMinor?] at h
  split at h
  case h_1 => cases h
  case h_2 minor more htail =>
    obtain ⟨next, hnext, rfl⟩ := Option.map_eq_some_iff.mp h
    obtain ⟨rfl, -⟩ := fits_of_nextWord? hnext
    rw [release, htail]
    exact (compareReleases_cons_self ..).trans (compareReleases_of_lt (Nat.lt_succ_self _) _ _)

/-- The next minor release of a stable version comes after it, whatever their marks. -/
theorem releases_lt_of_nextMinor? (hstable : v.isStable = true) (h : v.nextMinor? = some w) :
    compareReleases v.release w.release = .lt := by
  cases hminor : v.minor? with
  | none =>
    simp only [nextMinor?, hminor, nextMajor?_of_isStable hstable] at h
    exact releases_lt_of_bumpMajor? h
  | some minor =>
    rw [nextMinor?_of_isStable hstable hminor] at h
    exact releases_lt_of_bumpMinor? h

theorem key_final_congr {major major' : Nat} {tail tail' : List Nat}
    (h : compareReleases (major :: tail) (major' :: tail') = .eq) :
    (final major tail).key = (final major' tail').key := by
  rw [← compare_eq_eq_iff, compare]
  exact Ordering.then_eq_eq.mpr ⟨h, rfl⟩

/-- The marks of a final release compare with those of a stable version as smaller when it is a
    post release, and as equal when it is none. -/
theorem compareMarks_final {major : Nat} {tail : List Nat} (h : v.isStable = true) :
    compareMarks (final major tail) v = if v.post.isSome then .lt else .eq := by
  obtain ⟨hpre, hdev⟩ : v.pre = none ∧ v.dev = none := by
    simpa [isStable] using h
  simp only [compareMarks, stage, preRank, devRank, hpre, hdev, final]
  cases v.post with
  | none => decide
  | some n => rfl

theorem compare_final {major : Nat} {tail : List Nat} (hstable : v.isStable = true)
    (h : compareReleases (major :: tail) v.release = .eq) :
    (final major tail).compare v = if v.post.isSome then .lt else .eq := by
  rw [compare, show (final major tail).release = major :: tail from rfl, h, Ordering.eq_then,
    compareMarks_final hstable]

/-- A stable version does not come before a final release with its segments. -/
theorem key_final_le {major : Nat} {tail : List Nat} (hstable : v.isStable = true)
    (h : compareReleases (major :: tail) v.release = .eq) : (final major tail).key ≤ v.key := by
  rw [← not_lt, ← compare_eq_gt_iff, compare_final hstable h]
  split <;> decide

/-- A stable version that is no post release equals a final release with its segments. -/
theorem key_final_eq {major : Nat} {tail : List Nat} (hstable : v.isStable = true)
    (hpost : v.post = none) (h : compareReleases (major :: tail) v.release = .eq) :
    (final major tail).key = v.key := by
  rw [← compare_eq_eq_iff, compare_final hstable h, hpost]
  rfl

end Version

end ManifestMigration
