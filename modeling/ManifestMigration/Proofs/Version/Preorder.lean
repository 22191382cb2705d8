import ManifestMigration.Version.Order
import Mathlib.Order.Antisymmetrization

/-! The comparison of versions is a total preorder.

    Releases are compared with zeros behind the shorter one, so how far a release is filled up
    depends on its partner; transitivity is proved with all three releases read head by head, a
    missing segment being zero. Versions that compare equal share a `Key`, and keys are linearly
    ordered. -/

namespace ManifestMigration

namespace Version

/-! ### Releases -/

/-- Comparing releases one segment at a time, whichever of them has ended already. -/
theorem compareReleases_eq_then (xs ys : List Nat) : compareReleases xs ys =
    (Ord.compare (xs.headD 0) (ys.headD 0)).then (compareReleases xs.tail ys.tail) := by
  cases xs <;> cases ys <;> simp [compareReleases, compareEnded]

theorem compareReleases_swap : ∀ (n : Nat) {xs ys : List Nat}, xs.length ≤ n → ys.length ≤ n →
    compareReleases xs ys = (compareReleases ys xs).swap
  | 0, xs, ys, hx, hy => by
    rw [List.eq_nil_of_length_eq_zero (Nat.le_zero.mp hx),
      List.eq_nil_of_length_eq_zero (Nat.le_zero.mp hy)]
    rfl
  | n + 1, xs, ys, hx, hy => by
    rw [compareReleases_eq_then xs ys, compareReleases_eq_then ys xs, Ordering.swap_then,
      ← compareReleases_swap n, ← Std.OrientedOrd.eq_swap] <;> rw [List.length_tail] <;> omega

/-- Transitivity of a lexicographic step, given transitivity of what follows. -/
theorem isLE_then_trans {a b c : Nat} {o p q : Ordering} (h : o.isLE → p.isLE → q.isLE)
    (hab : ((Ord.compare a b).then o).isLE) (hbc : ((Ord.compare b c).then p).isLE) :
    ((Ord.compare a c).then q).isLE := by
  rw [Ordering.isLE_then_iff_and, Nat.isLE_compare, Nat.compare_eq_lt] at *
  refine ⟨by omega, ?_⟩
  rcases hab.2 with hlt | ho
  · left; omega
  rcases hbc.2 with hlt | hp
  · left; omega
  · right; exact h ho hp

theorem isLE_compareReleases_trans : ∀ (n : Nat) {xs ys zs : List Nat},
    xs.length ≤ n → ys.length ≤ n → zs.length ≤ n →
    (compareReleases xs ys).isLE → (compareReleases ys zs).isLE → (compareReleases xs zs).isLE
  | 0, xs, ys, zs, hx, hy, hz => by
    rw [List.eq_nil_of_length_eq_zero (Nat.le_zero.mp hx),
      List.eq_nil_of_length_eq_zero (Nat.le_zero.mp hz)]
    intros; rfl
  | n + 1, xs, ys, zs, hx, hy, hz => by
    rw [compareReleases_eq_then xs ys, compareReleases_eq_then ys zs,
      compareReleases_eq_then xs zs]
    refine isLE_then_trans (isLE_compareReleases_trans n ?_ ?_ ?_) <;>
      rw [List.length_tail] <;> omega

instance : Std.TransCmp compareReleases where
  eq_swap {xs ys} := compareReleases_swap (xs.length + ys.length) (by omega) (by omega)
  isLE_trans {xs ys zs} := isLE_compareReleases_trans (xs.length + ys.length + zs.length)
    (by omega) (by omega) (by omega)

/-! ### Versions -/

instance : Std.TransCmp fun v w : Version => compareReleases v.release w.release where
  eq_swap := Std.OrientedCmp.eq_swap
  isLE_trans := Std.TransCmp.isLE_trans

instance : Std.TransCmp compareMarks :=
  inferInstanceAs <| Std.TransCmp <| compareLex (compareOn stage) <| compareLex (compareOn preRank)
    <| compareLex (compareOn fun v => v.post.getD 0) (compareOn devRank)

instance : Std.TransCmp compare :=
  inferInstanceAs <| Std.TransCmp <|
    compareLex (fun v w : Version => compareReleases v.release w.release) compareMarks

instance : Preorder Version where
  le v w := (v.compare w).isLE
  lt v w := v.compare w = .lt
  le_refl _ := Std.ReflCmp.isLE_rfl
  le_trans _ _ _ := Std.TransCmp.isLE_trans
  lt_iff_le_not_ge v w := by
    rw [show w.compare v = (v.compare w).swap from Std.OrientedCmp.eq_swap]
    cases v.compare w <;> decide

instance : DecidableLE Version := fun v w => inferInstanceAs (Decidable ((v.compare w).isLE))

instance : DecidableLT Version := fun v w => inferInstanceAs (Decidable (v.compare w = .lt))

instance : Std.Total (α := Version) (· ≤ ·) where
  total v w := by
    change (v.compare w).isLE ∨ (w.compare v).isLE
    rw [show w.compare v = (v.compare w).swap from Std.OrientedCmp.eq_swap]
    cases v.compare w <;> decide

/-! ### Keys -/

/-- Versions up to equality in the order. -/
abbrev Key := Antisymmetrization Version (· ≤ ·)

/-- The place of a version in the order. -/
def key (v : Version) : Key := toAntisymmetrization (· ≤ ·) v

theorem compare_eq_lt_iff {v w : Version} : v.compare w = .lt ↔ v.key < w.key := by
  change v < w ↔ _
  exact toAntisymmetrization_lt_toAntisymmetrization_iff.symm

theorem compare_eq_gt_iff {v w : Version} : v.compare w = .gt ↔ w.key < v.key := by
  rw [← compare_eq_lt_iff]
  exact Std.OrientedCmp.gt_iff_lt

theorem compare_eq_eq_iff {v w : Version} : v.compare w = .eq ↔ v.key = w.key := by
  have h : v.key = w.key ↔ ¬ v.key < w.key ∧ ¬ w.key < v.key := by
    rw [not_lt, not_lt, and_comm, le_antisymm_iff]
  rw [h, ← compare_eq_lt_iff, ← compare_eq_gt_iff]
  cases v.compare w <;> decide

theorem same_iff {v w : Version} : v.same w = true ↔ v.key = w.key := by
  rw [same, beq_iff_eq, compare_eq_eq_iff]

theorem before_iff {v w : Version} : v.before w = true ↔ v.key < w.key := by
  rw [before, beq_iff_eq, compare_eq_lt_iff]

/-! ### Zeros at the end of a release -/

/-- A release that goes on with zeros is compared as if it did not. -/
theorem compareReleases_append_zeros (zeros : Nat) : ∀ xs ys : List Nat,
    compareReleases (xs ++ List.replicate zeros 0) ys = compareReleases xs ys
  | x :: xs, ys => by
    rw [List.cons_append, compareReleases, compareReleases, compareReleases_append_zeros zeros xs]
  | [], ys => by
    rw [List.nil_append]
    induction zeros generalizing ys with
    | zero => rfl
    | succ zeros ih =>
      calc compareReleases (0 :: List.replicate zeros 0) ys
          = (Ord.compare 0 (ys.headD 0)).then
              (compareReleases (List.replicate zeros 0) ys.tail) := rfl
        _ = (Ord.compare 0 (ys.headD 0)).then (compareReleases [] ys.tail) := by rw [ih]
        _ = compareReleases [] ys := (compareReleases_eq_then [] ys).symm

/-- The version with zeros at the end of its release, written in any way. -/
def withZeros (v : Version) (zeros : Nat) (text : String) : Version :=
  { v with tail := v.tail ++ List.replicate zeros 0, text }

theorem compare_withZeros_left (v w : Version) (zeros : Nat) (text : String) :
    (v.withZeros zeros text).compare w = v.compare w := by
  have hrelease : compareReleases (v.withZeros zeros text).release w.release =
      compareReleases v.release w.release :=
    compareReleases_append_zeros zeros v.release w.release
  rw [compare, hrelease]
  rfl

theorem compare_withZeros_right (v w : Version) (zeros : Nat) (text : String) :
    w.compare (v.withZeros zeros text) = w.compare v := by
  have hswap : w.compare (v.withZeros zeros text) = ((v.withZeros zeros text).compare w).swap :=
    Std.OrientedCmp.eq_swap
  rw [hswap, compare_withZeros_left]
  exact Std.OrientedCmp.eq_swap.symm

/-- Versions are in a total preorder, equal versions can stand for each other in it, and zeros at
    the end of a release have no say in it. -/
theorem compare_total_preorder (a b c : Version) :
    a.compare a = .eq ∧ b.compare a = (a.compare b).swap ∧
      (a.compare b ≠ .gt → b.compare c ≠ .gt → a.compare c ≠ .gt) ∧
      (a.same b = true ↔ a.compare b = .eq) ∧ (a.same b = true → a.compare c = b.compare c) ∧
      ∀ (zeros : Nat) (text : String), (a.withZeros zeros text).compare b = a.compare b ∧
        b.compare (a.withZeros zeros text) = b.compare a := by
  have hsame : a.same b = true ↔ a.compare b = .eq := by rw [same, beq_iff_eq]
  refine ⟨Std.ReflCmp.compare_self, Std.OrientedCmp.eq_swap, fun hab hbc => ?_, hsame,
    fun hab => ?_, fun zeros text => ?_⟩
  · have hac : (a.compare c).isLE := Std.TransCmp.isLE_trans (Ordering.isLE_iff_ne_gt.mpr hab)
      (Ordering.isLE_iff_ne_gt.mpr hbc)
    exact Ordering.isLE_iff_ne_gt.mp hac
  · exact Std.TransCmp.congr_left (hsame.mp hab)
  · exact ⟨compare_withZeros_left a b zeros text, compare_withZeros_right a b zeros text⟩

end Version

end ManifestMigration
