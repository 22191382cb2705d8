import ManifestMigration.Proofs.Constraint.UpTo

/-! What a tilde and a compatible release allow.

    Either asks for the end of the series that the release of its version belongs to, so the marks
    of the version do not count, and the range always ends at a segment that is raised. A tilde
    keeps the first two segments, or the only one. A compatible release is to keep all segments but
    the last. It keeps at most two, so behind four or more it allows releases of other series. -/

namespace ManifestMigration

namespace Constraint

variable {v : Version} {c : Constraint} {k : Nat} {r : Except Error Constraint}

/-! ### Tildes -/

theorem raises_tilde (v : Version) : v.Raises (if v.precision = 1 then 0 else 1)
    (if v.precision = 1 then v.stable.nextMajor? else v.stable.nextMinor?) := by
  split
  case isTrue => exact v.raises_stable_nextMajor?
  case isFalse h => exact Version.raises_stable_nextMinor? h

/-- It fails for no other reason than that the segment cannot be raised. -/
theorem AgreesUpTo.error_iff (hr : AgreesUpTo v k r) (hv : v.Fits) (e : Error) :
    r = .error e ↔ v.segment k = Text.wordLimit - 1 ∧ e = .outOfRange v := by
  rcases hv.segment_lt_or_eq k with hlt | hlimit
  · obtain ⟨c, hc, -⟩ := hr.allows hlt
    refine ⟨fun he => ?_, fun h => absurd h.1 hlt.ne⟩
    rw [hc] at he
    cases he
  · rw [hr.limit hlimit, and_iff_right hlimit, Except.error.injEq, eq_comm]

/-- A tilde allows the final releases from its version on that agree with it in the first two
    segments, or in the only one, whatever the marks of the version. It fails only when the last of
    these segments cannot be raised. -/
theorem parse_tilde (t : String) (v : Version) (h : Version.parse? t = some v) :
    let k := if v.precision = 1 then 0 else 1
    (∀ e, parse ("~" ++ t) = .error e ↔
      v.segment k = Text.wordLimit - 1 ∧ e = .outOfRange v) ∧
    (v.segment k ≠ Text.wordLimit - 1 → ∃ c, parse ("~" ++ t) = .ok c ∧
      ∀ w : Version, w.IsFinal → (w ∈ c ↔ v ≤ w ∧ ∀ i ≤ k, w.segment i = v.segment i)) := by
  intro k
  have hfits : v.Fits := (Version.of_ofText?_eq_some h).2.2.2
  have hreads := readsUpTo "~" (by decide) (by decide) h (readOne_tilde h)
  have hagrees : AgreesUpTo v k (parse ("~" ++ t)) := hreads.agrees (raises_tilde v)
  refine ⟨hagrees.error_iff hfits, fun hne => hagrees.allows ?_⟩
  exact (hfits.segment_lt_or_eq k).resolve_right hne

theorem parse_tilde_of_candidate :
    let v : Version := ⟨1, [5], some (.candidate, 2), none, some 0, "1.5-RC.2dev"⟩
    Version.parse? " v1.5-RC.2dev" = some v ∧ v.segment 1 ≠ Text.wordLimit - 1 ∧
      ∃ c, parse "~ v1.5-RC.2dev" = .ok c ∧
        ∀ w : Version, w.IsFinal → (w ∈ c ↔ v ≤ w ∧ ∀ i ≤ 1, w.segment i = v.segment i) := by
  intro v
  have h : Version.parse? " v1.5-RC.2dev" = some v := by decide +kernel
  have hne : v.segment 1 ≠ Text.wordLimit - 1 := by decide
  exact ⟨h, hne, (parse_tilde " v1.5-RC.2dev" v h).2 hne⟩

/-! ### Compatible releases -/

/-- What a compatible release is to allow: the final releases from the version on that agree with it
    in all segments but the last. -/
def CompatibleLaw (v : Version) (c : Constraint) : Prop :=
  ∀ w : Version, w.IsFinal → w.Fits →
    (w ∈ c ↔ v ≤ w ∧ ∀ i, i + 1 < v.precision → w.segment i = v.segment i)

theorem raises_compatible (hn : 2 ≤ v.precision) : v.Raises (min v.precision 3 - 2)
    (if v.precision ≤ 2 then v.stable.nextMajor? else v.stable.nextMinor?) := by
  split
  case isTrue h =>
    rw [show min v.precision 3 - 2 = 0 by omega]
    exact v.raises_stable_nextMajor?
  case isFalse h =>
    rw [show min v.precision 3 - 2 = 1 by omega]
    exact Version.raises_stable_nextMinor? (by omega)

theorem AgreesUpTo.mem_iff (hr : AgreesUpTo v k (.ok c)) (hv : v.Fits) {w : Version}
    (hw : w.IsFinal) : w ∈ c ↔ v ≤ w ∧ ∀ i ≤ k, w.segment i = v.segment i := by
  rcases hv.segment_lt_or_eq k with hlt | hlimit
  · obtain ⟨d, hd, hallows⟩ := hr.allows hlt
    cases hd
    exact hallows w hw
  · cases hr.limit hlimit

/-- A release from the version on that agrees with it up to a segment agrees with it in the next
    ones as well, as long as these hold the largest number. -/
theorem segment_eq_of_limit {w : Version} (hw : w.Fits) (hle : v ≤ w)
    (hagree : ∀ i ≤ k, w.segment i = v.segment i) (n : Nat)
    (hlimit : ∀ i, k < i → i < n → v.segment i = Text.wordLimit - 1) :
    ∀ i < n, w.segment i = v.segment i := by
  intro i
  induction i using Nat.strong_induction_on with
  | _ i ih =>
    intro hi
    rcases Nat.lt_or_ge k i with hk | hk
    · -- a smaller segment would put the release below the version
      have hnot : ¬ w.segment i < v.segment i := fun hlt => by
        have hprecedes : Version.Precedes w.segment v.segment :=
          ⟨i, fun j hj => ih j hj (hj.trans hi), hlt⟩
        exact (Version.key_lt_of_precedes hprecedes).not_ge (Version.le_iff_key_le.mp hle)
      have hfits := hw.segment_lt i
      have hmax := hlimit i hk hi
      omega
    · exact hagree i hk

/-- The release that raises a segment and has none behind it. -/
theorem exists_raised (hv : v.Fits) {i : Nat} (hlength : i < v.precision)
    (hlt : v.segment i < Text.wordLimit - 1) :
    ∃ w : Version, w.IsFinal ∧ w.Fits ∧ (∀ j < i, w.segment j = v.segment j) ∧
      w.segment i = v.segment i + 1 := by
  obtain ⟨major, tail, hsegments⟩ : ∃ major tail,
      v.release.take i ++ [v.segment i + 1] = major :: tail :=
    List.exists_cons_of_ne_nil (List.append_ne_nil_of_right_ne_nil _ (List.cons_ne_nil _ _))
  have htake : (v.release.take i).length = i := List.length_take_of_le hlength.le
  refine ⟨.final major tail, Version.isFinal_final _ _, fun n hn => ?_, fun j hj => ?_, ?_⟩
  · rw [show (Version.final major tail).release = _ from hsegments.symm] at hn
    rcases List.mem_append.mp hn with hn | hn
    · exact hv n (List.mem_of_mem_take hn)
    · rw [List.mem_singleton.mp hn]
      omega
  · change (major :: tail).getD j 0 = v.release.getD j 0
    rw [← hsegments, List.getD_eq_getElem?_getD, List.getD_eq_getElem?_getD,
      List.getElem?_append_left (htake.symm ▸ hj), List.getElem?_take_of_lt hj]
  · change (major :: tail).getD i 0 = _
    rw [← hsegments, List.getD_eq_getElem?_getD, List.getElem?_append_right htake.le, htake,
      Nat.sub_self]
    rfl

/-- The segments that are dropped make no difference only if they hold the largest number. -/
theorem AgreesUpTo.compatibleLaw_iff (hr : AgreesUpTo v (min v.precision 3 - 2) (.ok c))
    (hv : v.Fits) (hn : 2 ≤ v.precision) : CompatibleLaw v c ↔
      ∀ i, 2 ≤ i → i + 1 < v.precision → v.segment i = Text.wordLimit - 1 := by
  constructor
  · intro hlaw i hi hlength
    by_contra hne
    have hlt := (hv.segment_lt_or_eq i).resolve_right hne
    obtain ⟨w, hw, hwfits, hbelow, hraised⟩ := exists_raised hv (Nat.lt_of_succ_lt hlength) hlt
    have hle : v ≤ w := Version.le_iff_key_le.mpr
      (Version.key_lt_of_precedes ⟨i, fun j hj => (hbelow j hj).symm, by omega⟩).le
    have hmem : w ∈ c := (hr.mem_iff hv hw).mpr ⟨hle, fun j hj => hbelow j (by omega)⟩
    have hagree := ((hlaw w hw hwfits).mp hmem).2 i hlength
    omega
  · intro hlimit w hw hwfits
    rw [hr.mem_iff hv hw]
    refine and_congr_right fun hle => ⟨fun hagree i hi => ?_, fun hagree i hi => ?_⟩
    · refine segment_eq_of_limit hwfits hle hagree (v.precision - 1) (fun j hj hlength => ?_) i
        (by omega)
      exact hlimit j (by omega) (by omega)
    · exact hagree i (by omega)

/-- A compatible release allows the final releases from its version on that agree with it in all
    segments but the last, and never in more than the first two. So it allows what it is to allow
    behind two or three segments, and behind more only if none of those that are dropped can be
    exceeded. -/
theorem parse_compatible (t : String) (v : Version) (h : Version.parse? t = some v)
    (hn : 2 ≤ v.precision) :
    AgreesUpTo v (min v.precision 3 - 2) (parse ("~=" ++ t)) ∧
      ∀ c, parse ("~=" ++ t) = .ok c → (CompatibleLaw v c ↔
        ∀ i, 2 ≤ i → i + 1 < v.precision → v.segment i = Text.wordLimit - 1) := by
  have hfits : v.Fits := (Version.of_ofText?_eq_some h).2.2.2
  have hreads := readsUpTo "~=" (by decide) (by decide) h (readOne_compatible h)
  have hagrees := hreads.agrees (raises_compatible hn)
  refine ⟨hagrees, fun c hc => ?_⟩
  rw [hc] at hagrees
  exact hagrees.compatibleLaw_iff hfits hn

theorem parse_compatible_of_post :
    let v : Version := ⟨1, [2, 3], none, some 1, none, "1.2.3.post1"⟩
    Version.parse? "1.2.3.post1" = some v ∧ 2 ≤ v.precision ∧
      ∃ c, parse "~=1.2.3.post1" = .ok c ∧ CompatibleLaw v c := by
  intro v
  have h : Version.parse? "1.2.3.post1" = some v := by decide +kernel
  have hn : 2 ≤ v.precision := by decide
  obtain ⟨hagrees, hlaw⟩ := parse_compatible "1.2.3.post1" v h hn
  obtain ⟨c, hc, -⟩ := hagrees.allows (by decide)
  refine ⟨h, hn, c, hc, (hlaw c hc).mpr fun i hi hlength => ?_⟩
  exact absurd hlength (by change ¬ i + 1 < 3; omega)

/-- The third of four segments is dropped. -/
theorem compatible_drops_segments :
    let v : Version := ⟨1, [2, 3, 4], none, none, none, "1.2.3.4"⟩
    let c := ofRange (.halfOpen v (.final 1 [3, 0, 0]))
    Version.parse? "1.2.3.4" = some v ∧ parse "~=1.2.3.4" = .ok c ∧
      Version.final 1 [2, 4] ∈ c ∧ ¬ CompatibleLaw v c := by
  intro v c
  have hmem : Version.final 1 [2, 4] ∈ c := by decide +kernel
  refine ⟨by decide +kernel, by decide +kernel, hmem, fun hlaw => ?_⟩
  have hfits : (Version.final 1 [2, 4]).Fits :=
    show ∀ n ∈ [1, 2, 4], n < Text.wordLimit by decide
  have hagree := ((hlaw _ (Version.isFinal_final _ _) hfits).mp hmem).2 2 (by decide)
  exact absurd hagree (by decide)

end Constraint

end ManifestMigration
